import GuessClient.Proofs.Tickets
import GuessClient.Proofs.Json.Compact
import GuessClient.Proofs.WireFormat

/-!
How the player sees the values of the function. An integer is shown with just the digits that the server
wrote, a string as what it stands for, and any other value without fractions as a text in one line that
is read as the same value again.
-/

namespace GuessClient

open GuessClient.Json

/-- The body of an answer in which the text stands as the value. Blanks may stand around it, and the name
of the member may be spelled in any way. -/
def ValueBody (body : String) (text : Source) : Prop :=
  ∃ before after, Source.ofText body = before ++ (text ++ after) ∧
    Spells [.leftBrace, .string (some "y_value"), .colon] before ∧ Spells [.rightBrace] after

theorem valueBody_written {body : String} {text : Source} (valued : ValueBody body text) {t : Tree}
    (written : t.Written text) :
    (Tree.object [(some "y_value", t)]).Written (.ofText body) := by
  obtain ⟨before, after, same, opening, closing⟩ := valued
  rw [same]
  exact spells_append opening (spells_append written closing)

theorem valueBody_read {body : String} {text : Source} (valued : ValueBody body text) {t : Tree}
    (written : t.Written text) {v : Value} (means : t.Means v) (fits : t.nesting ≤ fieldDepth) :
    Evaluation.read body = .ok ⟨v⟩ := by
  have sole : Sole "y_value" t [(some "y_value", t)] :=
    ⟨[], [], rfl, List.forall_mem_nil _, List.forall_mem_nil _⟩
  have named : ∀ m ∈ [(some "y_value", t)], m.1.isSome = true :=
    List.forall_mem_singleton.mpr rfl
  have held := (evaluation_held [(some "y_value", t)] ⟨v⟩).mpr ⟨named, t, sole, means, fits⟩
  exact readBody_eq_ok_iff.mpr ⟨_, valueBody_written valued written, held⟩

theorem token_written {t : Tree} {token : Token} (alone : t.tokens = [token]) {text : Source}
    (spelled : token.Spelled text) : t.Written text := by
  have spells := @Spells.cons [] text [] token [] nofun spelled (.nil nofun)
  rw [Tree.Written, alone]
  simpa using spells

theorem valueText_compact {t : Tree} {v : Value} (means : t.Means v)
    (integral : ∀ n ∈ t.numbers, Integral n) (other : ∀ s, t ≠ .string s) :
    valueText v = v.compact := by
  cases means with
  | number n =>
    obtain ⟨k, same, _⟩ := integral (some n) (List.mem_singleton.mpr rfl)
    obtain rfl := Option.some.inj same
    rfl
  | string s => exact absurd rfl (other _)
  | _ => rfl

theorem valueText_integer {ds : List Char} {n : Int} (denotes : Denotes ds n) :
    valueText (.number (.integer n)) = String.ofList ds := by
  rw [← denotes_write denotes]
  rfl

namespace Session

/-- The answer with this body adds one message to the log, in which the value is shown as the text, and
the player can go on. -/
def ShowsValue (s : Session) (ticket : Ticket) (raw body shown : String) : Prop :=
  apply (.reply ticket ((Evaluation.read body).map .evaluation)) s =
    ({ s with
      messages := s.messages ++ [.system s!"📝 Result: f({raw}) = {shown}"]
      loading := false }, [])

theorem shows_read {s : Session} (sound : s.status.Sound) (live : s.ended = false) {ticket : Ticket}
    (first : ticket.epoch = 0) {x : Float} {raw : String} (asks : ticket.request = .substitute x raw)
    {body : String} {v : Value} (read : Evaluation.read body = .ok ⟨v⟩) :
    s.ShowsValue ticket raw body (valueText v) := by
  have current : ticket.epoch = s.epoch := first.trans (sound_first sound live).symm
  have loses : ¬ Wins ticket.request (.ok (.evaluation ⟨v⟩)) := by simp [Wins, asks]
  unfold ShowsValue
  rw [read, apply]
  show onReply ticket (.ok (.evaluation ⟨v⟩)) s = _
  rw [reply_noted sound current fun wins => loses wins.1, asks]
  simp [noted, told, sound_live sound live]

/-- What the server says exactly is shown exactly. -/
theorem values_shown (id : String) (delay : Nat) (operations : List Operation) {ticket : Ticket}
    {x : Float} {raw : String} (asks : ticket.request = .substitute x raw)
    (sent : .send ticket ∈ (run operations { id, delay }).2)
    (live : (run operations { id, delay }).1.ended = false) {body : String} {text : Json.Source}
    (valued : ValueBody body text) :
    let s := (run operations { id, delay }).1
    (∀ ds n, text = ds.map some → Denotes ds n → Fits64 n →
      s.ShowsValue ticket raw body (String.ofList ds)) ∧
    (∀ shown, (Token.string (some shown)).Spelled text → s.ShowsValue ticket raw body shown) ∧
    (∀ t : Tree, t.Written text → t.Kept → t.nesting ≤ fieldDepth →
      (∀ n ∈ t.numbers, Integral n) → (∀ shown, t ≠ .string shown) →
        ∃ v, t.Means v ∧ Tight v.tree.tokens v.compact.toList ∧ value? v.compact = some v ∧
          s.ShowsValue ticket raw body v.compact) ∧
    ∀ (n : Int) (text : Json.Source), (Token.number (some (.integer n))).Spelled text ↔
      Fits64 n ∧ ∃ ds, text = ds.map some ∧ Denotes ds n := by
  intro s
  have fresh := new_sound id delay
  have sound : s.status.Sound := run_sound operations _ fresh
  have first : ticket.epoch = 0 := run_tickets fresh sent
  have shows {v : Value} (read : Evaluation.read body = .ok ⟨v⟩) :
      s.ShowsValue ticket raw body (valueText v) := shows_read sound live first asks read
  refine ⟨?_, ?_, ?_, integer_spelled_iff⟩
  · rintro ds n rfl denotes fits
    have spelled := (integer_spelled_iff n _).mpr ⟨fits, ds, rfl, denotes⟩
    have read := valueBody_read valued (token_written rfl spelled) (.number _) (Nat.zero_le _)
    rw [← valueText_integer denotes]
    exact shows read
  · intro shown spelled
    exact shows (valueBody_read valued (token_written rfl spelled) (.string _) (Nat.zero_le _))
  · intro t written kept fits integral other
    obtain ⟨v, means⟩ := (kept_iff t).mp kept
    have shallow : t.nesting ≤ deepest := fits.trans (by decide)
    obtain ⟨tight, again⟩ := compact_read means shallow integral
    refine ⟨v, means, tight, again, ?_⟩
    rw [← valueText_compact means integral other]
    exact shows (valueBody_read valued written means fits)

/-- An integer that no floating-point number is equal to, an escaped string, and both of them in an
object, of whose members with one name the last is kept. -/
theorem values_shown_large :
    let s := (run [.setMode .substitute, .submit " 2 "] { id := "a" }).1
    let ticket : Ticket := ⟨0, .substitute (Decimal.nearest false 2 0) "2"⟩
    s.ShowsValue ticket "2" "\x7b\"y_value\": -9007199254740993\x7d" "-9007199254740993" ∧
      s.ShowsValue ticket "2" "\x7b\"y_value\":\"\\u0041\"\x7d" "A" ∧
      s.ShowsValue ticket "2"
        "\x7b\"y_value\": \x7b\"b\": 1, \"b\": [9007199254740993, \"\\u0041\"], \"a\": null\x7d\x7d"
        "\x7b\"a\":null,\"b\":[9007199254740993,\"A\"]\x7d" := by
  intro s ticket
  have sent : .send ticket ∈ (run [.setMode .substitute, .submit " 2 "] { id := "a" }).2 :=
    List.mem_singleton.mpr rfl
  have shown := @values_shown "a" 1500 [.setMode .substitute, .submit " 2 "] ticket _ "2" rfl sent rfl
  have valued (before text after : String) (opening : tokens? (.ofText before) =
      some [.leftBrace, .string (some "y_value"), .colon])
      (closing : tokens? (.ofText after) = some [.rightBrace]) :
      ValueBody (before ++ (text ++ after)) (.ofText text) :=
    ⟨.ofText before, .ofText after, by simp [Json.Source.ofText], tokens_spells opening,
      tokens_spells closing⟩
  refine ⟨?_, ?_, ?_⟩
  · have body := valued "\x7b\"y_value\": " "-9007199254740993" "\x7d" rfl rfl
    have denotes : Denotes "-9007199254740993".toList (-9007199254740993) :=
      .negative (.inr ⟨⟨by decide, List.all_eq_true.mp rfl⟩, by decide⟩) (by decide)
    exact (shown body).1 _ _ rfl denotes ⟨by decide, by decide⟩
  · have body := valued "\x7b\"y_value\":" "\"\\u0041\"" "\x7d" rfl rfl
    obtain ⟨part, same, spelled⟩ := @nextToken_spelled (.ofText "\"\\u0041\"") [] _ rfl
    rw [List.append_nil] at same
    exact (shown body).2.1 "A" (same ▸ spelled)
  · let members : List (Option String × Tree) :=
      [(some "b", .number (some (.integer 1))),
        (some "b", .array [.number (some (.integer 9007199254740993)), .string (some "A")]),
        (some "a", .null)]
    have body := valued "\x7b\"y_value\": "
      "\x7b\"b\": 1, \"b\": [9007199254740993, \"\\u0041\"], \"a\": null\x7d" "\x7d" rfl rfl
    have written : (Tree.object members).Written
        (.ofText "\x7b\"b\": 1, \"b\": [9007199254740993, \"\\u0041\"], \"a\": null\x7d") :=
      tree_eq_some_iff.mp rfl
    have kept : (Tree.object members).Kept :=
      ⟨rfl, rfl, rfl, ⟨rfl, rfl, trivial⟩, rfl, trivial, trivial⟩
    have integral : ∀ n ∈ (Tree.object members).numbers, Integral n := by
      intro n there
      have two : n = some (.integer 1) ∨ n = some (.integer 9007199254740993) := by
        simpa [Tree.numbers, memberNumbers, itemNumbers, members] using there
      rcases two with rfl | rfl <;> exact ⟨_, rfl, by decide, by decide⟩
    have other : ∀ s, Tree.object members ≠ .string s := by
      intro s same
      cases same
    obtain ⟨v, means, -, -, seen⟩ := (shown body).2.2.1 _ written kept (by decide) integral other
    have value : some (Value.object [("a", .null),
        ("b", .array [.number (.integer 9007199254740993), .string "A"])]) = some v :=
      (value_eq_some_iff (.object members) fieldDepth v).mpr ⟨means, by decide⟩
    obtain rfl := Option.some.inj value
    exact seen

end Session

end GuessClient
