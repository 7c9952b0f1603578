import GuessClient.Proofs.Json.Members
import GuessClient.Proofs.Json.Integers
import GuessClient.Proofs.Json.Trailing
import GuessClient.Proofs.SavedSettings

/-!
What is loaded from a file of settings. A file is taken as a whole or not at all. Each setting has
to stand in it once, with its type, or to be left out, and then it has its default. One fault
anywhere in the file, and all settings have their defaults.
-/

namespace GuessClient

open GuessClient.Json

def Twice (name : String) (members : List (Option String × Tree)) : Prop :=
  ∃ before between after t u,
    members = before ++ (some name, t) :: (between ++ (some name, u) :: after)

namespace Config

def names : List String := ["server_url", "request_timeout_secs", "log_filter"]

/-- The members give these settings: each stands among them once, with its type, or it is left out
and has its default. -/
structure Holds (members : List (Option String × Tree)) (c : Config) : Prop where
  server : Sole "server_url" (.string (some c.server)) members ∨
    Absent "server_url" members ∧ c.server = "http://127.0.0.1:8000"
  timeout : Sole "request_timeout_secs" (.number (some (.integer c.timeout.toNat))) members ∨
    Absent "request_timeout_secs" members ∧ c.timeout = 30
  logFilter : Sole "log_filter" (.string (some c.logFilter)) members ∨
    Absent "log_filter" members ∧ c.logFilter = "info"

def Misfit : Option String × Tree → Prop
  | (some "server_url", t) => ∀ s, t ≠ .string (some s)
  | (some "request_timeout_secs", t) => ∀ n : Nat, t ≠ .number (some (.integer n))
  | (some "log_filter", t) => ∀ s, t ≠ .string (some s)
  | _ => False

/-- A setting stands there twice or has another type than its own. -/
def Faulty (members : List (Option String × Tree)) : Prop :=
  (∃ m ∈ members, Misfit m) ∨ ∃ name ∈ names, Twice name members

end Config

section

variable {members : List (Option String × Tree)} {name : String} {t u : Tree}

theorem twice_filtered (twice : Twice name members) :
    2 ≤ (members.filter (·.1 == some name)).length := by
  obtain ⟨before, between, after, t, u, rfl⟩ := twice
  simp only [List.filter_append, List.filter_cons, beq_self_eq_true, ↓reduceIte, List.length_append,
    List.length_cons]
  omega

theorem twice_not_absent (twice : Twice name members) : ¬ Absent name members := by
  intro absent
  have two := twice_filtered twice
  rw [absent_iff.mp absent] at two
  contradiction

theorem twice_not_sole (twice : Twice name members) : ¬ Sole name t members := by
  intro sole
  have two := twice_filtered twice
  rw [sole_iff.mp sole] at two
  contradiction

theorem absent_or_sole_or_twice (name : String) (members : List (Option String × Tree)) :
    Absent name members ∨ (∃ t, Sole name t members) ∨ Twice name members := by
  cases filtered : members.filter (·.1 == some name) with
  | nil => exact .inl (absent_iff.mpr filtered)
  | cons m rest =>
    obtain ⟨before, others, rfl, clear, named, later⟩ := List.filter_eq_cons_iff.mp filtered
    obtain ⟨first, t⟩ := m
    obtain rfl : first = some name := by simpa using named
    cases rest with
    | nil =>
      have absent : Absent name before := fun m there => by simpa using clear m there
      exact .inr (.inl ⟨t, before, others, rfl, absent, absent_iff.mpr later⟩)
    | cons n rest =>
      obtain ⟨between, after, rfl, _, named', _⟩ := List.filter_eq_cons_iff.mp later
      obtain ⟨second, u⟩ := n
      obtain rfl : second = some name := by simpa using named'
      exact .inr (.inr ⟨before, between, after, t, u, rfl⟩)

theorem sole_mem (sole : Sole name t members) : (some name, t) ∈ members := by
  obtain ⟨before, after, rfl, _⟩ := sole
  simp

theorem sole_eq (sole : Sole name t members) (there : (some name, u) ∈ members) : u = t := by
  have kept : (some name, u) ∈ members.filter (·.1 == some name) :=
    List.mem_filter.mpr ⟨there, beq_self_eq_true _⟩
  rw [sole_iff.mp sole] at kept
  exact (Prod.mk.inj (List.mem_singleton.mp kept)).2

def Found {α : Type} (read : Tree → Option α) (absent : α) (name : String)
    (members : List (Option String × Tree)) (x : α) : Prop :=
  (∃ t, Sole name t members ∧ read t = some x) ∨ Absent name members ∧ x = absent

variable {α : Type} {read : Tree → Option α} {absent x : α}

theorem optional_eq_some_iff {field : Option Tree} (given : Given members name field) :
    Json.optional field absent read = some x ↔ Found read absent name members x := by
  constructor
  · intro there
    cases field with
    | none => exact .inr ⟨given, (Option.some.inj there).symm⟩
    | some t => exact .inl ⟨t, given, there⟩
  · rintro (⟨t, sole, there⟩ | ⟨missing, rfl⟩)
    · cases field with
      | none => exact absurd rfl (given _ (sole_mem sole))
      | some u => rwa [sole_eq sole (sole_mem given)]
    · cases field with
      | none => rfl
      | some u => exact absurd rfl (missing _ (sole_mem given))

theorem found_given (found : Found read absent name members x) :
    ∃ field, Given members name field := by
  rcases found with ⟨t, sole, _⟩ | ⟨missing, _⟩
  · exact ⟨some t, sole⟩
  · exact ⟨none, missing⟩

theorem found_fits (found : Found read absent name members x) (there : (some name, t) ∈ members) :
    read t = some x := by
  rcases found with ⟨u, sole, fits⟩ | ⟨missing, _⟩
  · rwa [sole_eq sole there]
  · exact absurd rfl (missing _ there)

theorem found_once (found : Found read absent name members x) : ¬ Twice name members := by
  intro twice
  rcases found with ⟨u, sole, _⟩ | ⟨missing, _⟩
  · exact twice_not_sole twice sole
  · exact twice_not_absent twice missing

end

theorem spells_spelled {tokens : List Token} {text : Source} (spells : Spells tokens text) :
    ∀ token ∈ tokens, ∃ part, token.Spelled part := by
  induction spells with
  | nil => nofun
  | cons _ written _ ih => exact List.forall_mem_cons.mpr ⟨⟨_, written⟩, ih⟩

theorem member_token {members : List (Option String × Tree)} {m : Option String × Tree}
    (there : m ∈ members) : ∀ token ∈ m.2.tokens, token ∈ (Tree.object members).tokens := by
  intro token inside
  cases members with
  | nil => cases there
  | cons first rest =>
    rcases List.mem_cons.mp there with rfl | later
    · simp [Tree.tokens, inside]
    · have among : token ∈ memberTokens rest := by
        rw [memberTokens_eq, List.mem_append, List.mem_flatMap]
        exact .inl ⟨m, later, by simp [inside]⟩
      simp [Tree.tokens, among]

namespace Config

variable {members : List (Option String × Tree)}

theorem ofTree_eq_some_iff (members : List (Option String × Tree)) (c : Config) :
    ofTree? (.object members) = some c ↔ (∀ m ∈ members, m.1.isSome = true) ∧
      Found Tree.string? "http://127.0.0.1:8000" "server_url" members c.server ∧
      Found Tree.count? 30 "request_timeout_secs" members c.timeout ∧
      Found Tree.string? "info" "log_filter" members c.logFilter := by
  unfold ofTree?
  constructor
  · intro read
    split at read
    · rename_i server timeout logFilter found
      obtain ⟨named, each⟩ := fields_eq_some_iff.mp found
      simp only [List.forall₂_cons] at each
      obtain ⟨server', timeout', logFilter', _⟩ := each
      simp only [Option.bind_eq_bind, Option.bind_eq_some_iff, Option.pure_def,
        Option.some.injEq] at read
      obtain ⟨s, first, n, second, f, third, rfl⟩ := read
      exact ⟨named, (optional_eq_some_iff server').mp first,
        (optional_eq_some_iff timeout').mp second, (optional_eq_some_iff logFilter').mp third⟩
    · cases read
  · rintro ⟨named, server, timeout, logFilter⟩
    obtain ⟨first, server'⟩ := found_given server
    obtain ⟨second, timeout'⟩ := found_given timeout
    obtain ⟨third, logFilter'⟩ := found_given logFilter
    have found : fields? ["server_url", "request_timeout_secs", "log_filter"] (.object members) =
        some [first, second, third] :=
      fields_eq_some_iff.mpr ⟨named, .cons server' (.cons timeout' (.cons logFilter' .nil))⟩
    rw [found]
    simp [(optional_eq_some_iff server').mpr server, (optional_eq_some_iff timeout').mpr timeout,
      (optional_eq_some_iff logFilter').mpr logFilter]

theorem holds_ofTree {c : Config} (named : ∀ m ∈ members, m.1.isSome = true)
    (holds : Holds members c) : ofTree? (.object members) = some c := by
  obtain ⟨server, timeout, logFilter⟩ := holds
  have count : Tree.count? (.number (some (.integer c.timeout.toNat))) = some c.timeout := by
    simp [Tree.count?]
  exact (ofTree_eq_some_iff members c).mpr ⟨named,
    server.imp_left fun sole => ⟨_, sole, rfl⟩, timeout.imp_left fun sole => ⟨_, sole, count⟩,
    logFilter.imp_left fun sole => ⟨_, sole, rfl⟩⟩

theorem count_eq_some {t : Tree} {n : UInt64} (count : t.count? = some n) :
    ∃ k : Nat, t = .number (some (.integer k)) := by
  unfold Tree.count? at count
  split at count
  · split at count
    · rename_i k natural
      exact ⟨k.toNat, by rw [Int.toNat_of_nonneg natural]⟩
    · cases count
  · cases count

theorem misfit_ofTree {m : Option String × Tree} (there : m ∈ members) (misfit : Misfit m) :
    ofTree? (.object members) = none := by
  rw [Option.eq_none_iff_forall_ne_some]
  intro c read
  -- what has been read under the name of the member would be of its type
  obtain ⟨_, server, timeout, logFilter⟩ := (ofTree_eq_some_iff members c).mp read
  unfold Misfit at misfit
  split at misfit
  · exact misfit _ (string_eq_some_iff.mp (found_fits server there))
  · obtain ⟨k, fits⟩ := count_eq_some (found_fits timeout there)
    exact misfit k fits
  · exact misfit _ (string_eq_some_iff.mp (found_fits logFilter there))
  · exact misfit

theorem twice_ofTree {name : String} (declares : name ∈ names) (twice : Twice name members) :
    ofTree? (.object members) = none := by
  rw [Option.eq_none_iff_forall_ne_some]
  intro c read
  obtain ⟨_, server, timeout, logFilter⟩ := (ofTree_eq_some_iff members c).mp read
  simp only [names, List.mem_cons, List.not_mem_nil, or_false] at declares
  rcases declares with rfl | rfl | rfl
  · exact found_once server twice
  · exact found_once timeout twice
  · exact found_once logFilter twice

theorem load_written {file : ByteArray} {t : Tree} (written : t.Written (.ofBytes file)) :
    load (some file) = (ofTree? t).getD {} := by
  rw [load, Option.bind_some, tree_eq_some_iff.mpr written, Option.bind_some]

theorem load_unwritten {file : ByteArray} (unwritten : ∀ t : Tree, ¬ t.Written (.ofBytes file)) :
    load (some file) = {} := by
  have unread : tree? (.ofBytes file) = none := by
    rw [Option.eq_none_iff_forall_ne_some]
    exact fun t read => unwritten t (tree_eq_some_iff.mp read)
  rw [load, Option.bind_some, unread]
  rfl

theorem sound_fits (sound : ¬ Faulty members) {name : String} (declares : name ∈ names)
    {fits : Tree → Prop} (other : ∀ t, ¬ fits t → Misfit (some name, t)) :
    Absent name members ∨ ∃ t, Sole name t members ∧ fits t := by
  rcases absent_or_sole_or_twice name members with missing | ⟨t, sole⟩ | twice
  · exact .inl missing
  · refine .inr ⟨t, sole, ?_⟩
    by_contra unfit
    exact sound (.inl ⟨_, sole_mem sole, other t unfit⟩)
  · exact absurd (.inr ⟨name, declares, twice⟩) sound

theorem sound_text (sound : ¬ Faulty members) {name : String} (declares : name ∈ names)
    (other : ∀ t, (∀ s, t ≠ .string (some s)) → Misfit (some name, t)) (absent : String) :
    ∃ s, Sole name (.string (some s)) members ∨ Absent name members ∧ s = absent := by
  have fits := @sound_fits members sound name declares (∃ s, · = Tree.string (some s))
    fun t unlike => other t (not_exists.mp unlike)
  rcases fits with missing | ⟨_, sole, s, rfl⟩
  · exact ⟨absent, .inr ⟨missing, rfl⟩⟩
  · exact ⟨s, .inl sole⟩

theorem sound_count (sound : ¬ Faulty members) {text : Source}
    (written : (Tree.object members).Written text) :
    ∃ n : UInt64, Sole "request_timeout_secs" (.number (some (.integer n.toNat))) members ∨
      Absent "request_timeout_secs" members ∧ n = 30 := by
  have fits := @sound_fits members sound "request_timeout_secs" (by simp [names])
    (∃ n : Nat, · = Tree.number (some (.integer n))) fun t unlike => not_exists.mp unlike
  rcases fits with missing | ⟨_, sole, n, rfl⟩
  · exact ⟨30, .inr ⟨missing, rfl⟩⟩
  · -- a number that is written as an integer fits 64 bits
    obtain ⟨part, spelled⟩ := spells_spelled written _
      (member_token (sole_mem sole) _ (List.mem_singleton.mpr rfl))
    have bound : n < UInt64.size := ((natural_spelled_iff n part).mp spelled).1
    have same : n.toUInt64.toNat = n := UInt64.toNat_ofNat_of_lt' bound
    exact ⟨n.toUInt64, .inl (by rwa [same])⟩

theorem holds_or_faulty {text : Source} (written : (Tree.object members).Written text) :
    (∃ c, Holds members c) ∨ Faulty members := by
  by_cases faulty : Faulty members
  · exact .inr faulty
  · obtain ⟨server, first⟩ := @sound_text members faulty "server_url" (by simp [names])
      (fun _ other => other) "http://127.0.0.1:8000"
    obtain ⟨timeout, second⟩ := sound_count faulty written
    obtain ⟨logFilter, third⟩ := @sound_text members faulty "log_filter" (by simp [names])
      (fun _ other => other) "info"
    exact .inl ⟨⟨server, timeout, logFilter⟩, first, second, third⟩

theorem ofText_append (text extra : String) :
    Source.ofText (text ++ extra) = .ofText text ++ .ofText extra := by
  rw [Source.ofText, String.toList_append, List.map_append]
  rfl

theorem unblank_text {text : String} (further : ∃ c ∈ text.toList, isBlank (some c) = false) :
    ¬ Blank (.ofText text) := by
  intro blank
  obtain ⟨c, there, unblank⟩ := further
  rw [blank (some c) (List.mem_map_of_mem there)] at unblank
  cases unblank

/-- A file is taken as a whole or not at all. -/
theorem loaded_whole :
    (∀ (file : ByteArray) (members : List (Option String × Tree)) (c : Config),
      (Tree.object members).Written (.ofBytes file) → (∀ m ∈ members, m.1.isSome = true) →
        Holds members c → load (some file) = c) ∧
    (∀ (file : ByteArray) (members : List (Option String × Tree)),
      (Tree.object members).Written (.ofBytes file) → Faulty members → load (some file) = {}) ∧
    (∀ (file : ByteArray) (members : List (Option String × Tree)),
      (Tree.object members).Written (.ofBytes file) → (∃ c, Holds members c) ∨ Faulty members) ∧
    (∀ (file file' : ByteArray) (members members' : List (Option String × Tree)),
      (Tree.object members).Written (.ofBytes file) → (∀ m ∈ members, m.1.isSome = true) →
        (Tree.object members').Written (.ofBytes file') → (∀ m ∈ members', m.1.isSome = true) →
          (declared names members).Perm (declared names members') →
            load (some file) = load (some file')) ∧
    (∀ file : ByteArray, (∀ t : Tree, ¬ t.Written (.ofBytes file)) → load (some file) = {}) ∧
    (∀ (text extra : String) (members : List (Option String × Tree)),
      (Tree.object members).Written (.ofText text) →
        (∃ c ∈ extra.toList, isBlank (some c) = false) →
          load (some (text ++ extra).toUTF8) = {}) ∧
    (∀ (front back : String) (members : List (Option String × Tree)),
      (Tree.object members).Written (.ofText (front ++ back)) →
        (∃ c ∈ back.toList, isBlank (some c) = false) → load (some front.toUTF8) = {}) ∧
    ∀ (n : Nat) (text : Source), (Token.number (some (.integer n))).Spelled text ↔
      n < Nat.pow 2 64 ∧ text = (Nat.toDigits 10 n).map some := by
  refine ⟨?_, ?_, fun _ _ => holds_or_faulty, ?_, fun _ => load_unwritten, ?_, ?_,
    natural_spelled_iff⟩
  · intro file members c written named holds
    rw [load_written written, holds_ofTree named holds]
    rfl
  · intro file members written faulty
    rw [load_written written]
    rcases faulty with ⟨m, there, misfit⟩ | ⟨name, declares, twice⟩
    · rw [misfit_ofTree there misfit]
      rfl
    · rw [twice_ofTree declares twice]
      rfl
  · intro file file' members members' written named written' named' perm
    have same : ofTree? (.object members) = ofTree? (.object members') := by
      unfold ofTree?
      rw [show ["server_url", "request_timeout_secs", "log_filter"] = names from rfl,
        fields_unordered named named' perm]
    rw [load_written written, load_written written', same]
  · intro text extra members written further
    apply load_unwritten
    rw [ofBytes_toUTF8, ofText_append]
    exact trailing_unwritten written (unblank_text further)
  · intro front back members written cut
    apply load_unwritten
    rw [ofText_append] at written
    rw [ofBytes_toUTF8]
    exact truncated_unwritten written (unblank_text cut)

/-- Two files with the same settings and something else, one of them with text after it. -/
theorem loaded_whole_partly :
    load (some "\x7b\"x\": [null], \"log_filter\": \"debug\"\x7d".toUTF8) =
        { logFilter := "debug" } ∧
      load (some ("\x7b\"x\": [null], \"log_filter\": \"debug\"\x7d" ++ " \x7d").toUTF8) = {} := by
  let members : List (Option String × Tree) :=
    [(some "x", .array [.null]), (some "log_filter", .string (some "debug"))]
  have written : (Tree.object members).Written
      (.ofText "\x7b\"x\": [null], \"log_filter\": \"debug\"\x7d") := tree_eq_some_iff.mp rfl
  have holds : Holds members { logFilter := "debug" } := by
    refine ⟨.inr ⟨by simp [Absent, members], rfl⟩, .inr ⟨by simp [Absent, members], rfl⟩, .inl ?_⟩
    exact ⟨[(some "x", .array [.null])], [], rfl, by simp [Absent], by simp [Absent]⟩
  obtain ⟨loads, _, _, _, _, trailing, _⟩ := loaded_whole
  refine ⟨loads _ members _ ?_ (by simp [members]) holds, trailing _ _ members written ?_⟩
  · rwa [ofBytes_toUTF8]
  · exact ⟨'}', by decide, rfl⟩

end Config

end GuessClient
