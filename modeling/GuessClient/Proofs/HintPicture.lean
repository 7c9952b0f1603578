import GuessClient.Proofs.Base64
import GuessClient.Proofs.Reveal

/-!
The log shows the picture that the server has sent. A text is read as a picture exactly if it is the
Base64 form of some bytes with white space around it, and the address in the log ends in that text
again, without the white space. Of any other text nothing is kept.
-/

namespace GuessClient

namespace Text

theorem dark_kept {text : List Char} (dark : ∀ c ∈ text, isWhite c = false) :
    text.dropWhile isWhite = text := by
  cases text with
  | nil => rfl
  | cons c rest => exact List.dropWhile_cons_of_neg (by simp [dark c (by simp)])

theorem white_dropped {text : List Char} (white : ∀ c ∈ text, isWhite c = true) :
    text.dropWhile isWhite = [] := by
  have dropped : (text ++ []).dropWhile isWhite = [].dropWhile isWhite :=
    List.dropWhile_append_of_pos white
  rwa [List.append_nil] at dropped

theorem trimChars_around {before text after : List Char}
    (white : ∀ c ∈ before, isWhite c = true) (dark : ∀ c ∈ text, isWhite c = false)
    (blank : ∀ c ∈ after, isWhite c = true) : trimChars (before ++ text ++ after) = text := by
  rw [trimChars, List.append_assoc, List.dropWhile_append_of_pos white]
  cases text with
  | nil =>
    rw [List.nil_append, white_dropped blank]
    rfl
  | cons c rest =>
    have first : ((c :: rest) ++ after).dropWhile isWhite = (c :: rest) ++ after :=
      List.dropWhile_cons_of_neg (by simp [dark c (by simp)])
    rw [first, List.reverse_append,
      List.dropWhile_append_of_pos fun c there => blank c (List.mem_reverse.mp there),
      dark_kept fun c there => dark c (List.mem_reverse.mp there), List.reverse_reverse]

theorem trimChars_split (text : List Char) :
    ∃ before after, (∀ c ∈ before, isWhite c = true) ∧ (∀ c ∈ after, isWhite c = true) ∧
      text = before ++ trimChars text ++ after := by
  have front : text.takeWhile isWhite ++ text.dropWhile isWhite = text :=
    List.takeWhile_append_dropWhile
  have back : (text.dropWhile isWhite).reverse.takeWhile isWhite ++
      (text.dropWhile isWhite).reverse.dropWhile isWhite = (text.dropWhile isWhite).reverse :=
    List.takeWhile_append_dropWhile
  have kept := congrArg List.reverse back
  rw [List.reverse_append, List.reverse_reverse] at kept
  refine ⟨text.takeWhile isWhite, ((text.dropWhile isWhite).reverse.takeWhile isWhite).reverse,
    fun c there => ?_, fun c there => ?_, ?_⟩
  · exact List.all_eq_true.mp List.all_takeWhile c there
  · exact List.all_eq_true.mp List.all_takeWhile c (List.mem_reverse.mp there)
  · rw [trimChars, List.append_assoc, kept, front]

end Text

namespace Base64

theorem symbol_dark : ∀ n < 64, Text.isWhite (symbol n) = false := by decide

theorem encode_dark (bytes : List UInt8) : ∀ c ∈ (encode bytes).toList, Text.isWhite c = false := by
  intro c there
  rw [encode, String.toList_ofList, List.mem_append] at there
  rcases there with symbol | padding
  · obtain ⟨n, value, rfl⟩ := List.mem_map.mp symbol
    exact symbol_dark n (whole_bound (sextets_whole bytes) n value)
  · rw [List.eq_of_mem_replicate padding]
    rfl

end Base64

namespace Picture

/-- The text of the picture is the Base64 form of these bytes, with white space around it. -/
def Carries (p : Picture) (bytes : List UInt8) : Prop :=
  ∃ before after : List Char, (∀ c ∈ before, Text.isWhite c = true) ∧
    (∀ c ∈ after, Text.isWhite c = true) ∧
    p.text.toList = before ++ (Base64.encode bytes).toList ++ after

theorem carries_iff (p : Picture) (bytes : List UInt8) :
    p.Carries bytes ↔ Text.trim p.text = Base64.encode bytes := by
  constructor
  · rintro ⟨before, after, white, blank, text⟩
    rw [Text.trim, text, Text.trimChars_around white (Base64.encode_dark bytes) blank,
      String.ofList_toList]
  · intro trimmed
    obtain ⟨before, after, white, blank, text⟩ := Text.trimChars_split p.text.toList
    refine ⟨before, after, white, blank, ?_⟩
    rwa [← trimmed, Text.trim, String.toList_ofList]

theorem decode_eq_ok_iff (p : Picture) (bytes : List UInt8) :
    p.decode = .ok bytes ↔ p.Carries bytes := by
  rw [carries_iff, ← Base64.decode_eq_ok_iff, decode]
  cases Base64.decode (Text.trim p.text) <;> simp

theorem decode_malformed {p : Picture} (unlike : ∀ bytes, ¬ p.Carries bytes) :
    ∃ fault, p.decode = .error (.malformed (.picture fault)) := by
  cases read : Base64.decode (Text.trim p.text) with
  | ok bytes =>
    have trimmed := (Base64.decode_eq_ok_iff _ _).mp read
    exact absurd ((carries_iff p bytes).mpr trimmed) (unlike bytes)
  | error fault => exact ⟨fault, by rw [decode, read]⟩

end Picture

namespace Session

theorem takes_picture {s : Session} {p : Picture} {bytes : List UInt8} (unloaded : s.loaded = none)
    (live : s.ended = false) (decoded : p.decode = .ok bytes) :
    s.Takes (.ok p) ⟨p.start, p.finish⟩ bytes :=
  ⟨unloaded, live, open_decoded decoded⟩

theorem takes_decoded {s : Session} {outcome : Outcome Picture} {window : Window}
    {bytes : List UInt8} (takes : s.Takes outcome window bytes) :
    ∃ p, outcome = .ok p ∧ window = ⟨p.start, p.finish⟩ ∧ p.decode = .ok bytes := by
  obtain ⟨_, _, opened⟩ := takes
  cases outcome with
  | error failure => cases opened
  | ok p =>
    cases decoded : p.decode with
    | error failure => cases (open_undecoded decoded).symm.trans opened
    | ok data =>
      cases (open_decoded decoded).symm.trans opened
      exact ⟨p, rfl, rfl, decoded⟩

theorem finish_loaded (s : Session) : (finish s).1.loaded = s.loaded := by
  unfold finish
  split <;> rfl

theorem leave_loaded (route : Route) (s : Session) : (leave route s).1.loaded = s.loaded := by
  unfold leave
  split <;> rfl

theorem malformed_kept {p : Picture} {failure : Failure} (refused : p.decode = .error failure)
    (now : Float) (s : Session) : (apply (.picture (.ok p) now) s).1.loaded = s.loaded := by
  by_cases known : s.loaded.isSome = true ∨ s.ended = true
  · rw [apply, picture_known known]
  · rw [apply, picture_unopened known (open_undecoded refused), Transition.andThen_apply,
      Transition.andThen_apply, leave_loaded, finish_loaded]
    rfl

/-- The picture in the log is the one that was sent, sign for sign. -/
theorem picture_unchanged :
    (∀ (p : Picture) (bytes : List UInt8), p.decode = .ok bytes ↔ p.Carries bytes) ∧
    (∀ (p : Picture) (bytes : List UInt8), p.decode = .ok bytes →
      Base64.encode bytes = Text.trim p.text) ∧
    (∀ p : Picture, (∀ bytes, ¬ p.Carries bytes) →
      ∃ fault, p.decode = .error (.malformed (.picture fault)) ∧
        ∀ (now : Float) (s : Session), (apply (.picture (.ok p) now) s).1.loaded = s.loaded) ∧
    ∀ (id : String) (delay : Nat) (operations : List Operation),
      let start : Session := { id, delay }
      let t := (run operations start).1
      (∀ before p now after bytes, operations = before ++ .picture (.ok p) now :: after →
        (run before start).1.loaded = none → (run before start).1.ended = false →
          p.decode = .ok bytes →
            t.hint = (if t.revealed then some bytes else none) ∧
              pictures t.messages = if t.revealed then
                [.image hintText ("data:image/png;base64," ++ Text.trim p.text)] else []) ∧
        (t.revealed = true → ∃ before p now after bytes,
          operations = before ++ .picture (.ok p) now :: after ∧
            (run before start).1.loaded = none ∧ (run before start).1.ended = false ∧
            p.decode = .ok bytes) := by
  have same (p : Picture) (bytes : List UInt8) (decoded : p.decode = .ok bytes) :
      Base64.encode bytes = Text.trim p.text :=
    ((p.carries_iff bytes).mp ((p.decode_eq_ok_iff bytes).mp decoded)).symm
  refine ⟨Picture.decode_eq_ok_iff, same, ?_, ?_⟩
  · intro p unlike
    obtain ⟨fault, refused⟩ := Picture.decode_malformed unlike
    exact ⟨fault, refused, malformed_kept refused⟩
  · intro id delay operations start t
    have fresh : start.status.Sound := new_sound id delay
    obtain ⟨known, log⟩ : Illustrated t := run_illustrated fresh ⟨nofun, rfl⟩ operations
    constructor
    · intro before p now after bytes split unloaded live decoded
      have shows : t.hint = if t.revealed then some bytes else none := by
        cases revealed : t.revealed with
        | false => simp [hint, revealed]
        | true =>
          exact (hint_eq_some_iff fresh rfl operations bytes).mpr
            ⟨revealed, before, .ok p, now, after, _, split, takes_picture unloaded live decoded⟩
      refine ⟨shows, ?_⟩
      rw [log, shows]
      cases t.revealed with
      | false => rfl
      | true =>
        rw [← same p bytes decoded]
        rfl
    · intro revealed
      obtain ⟨l, loaded⟩ := Option.isSome_iff_exists.mp (known revealed)
      have shows : t.hint = some l.picture := by simp [hint, revealed, loaded]
      obtain ⟨_, before, outcome, now, after, window, split, takes⟩ :=
        (hint_eq_some_iff fresh rfl operations l.picture).mp shows
      obtain ⟨p, rfl, rfl, decoded⟩ := takes_decoded takes
      exact ⟨before, p, now, after, l.picture, split, takes.1, takes.2.1, decoded⟩

/-- Three bytes with white space around them, shown in the last third of the time, and a text with a bit
to spare. -/
theorem picture_unchanged_spaced :
    let p : Picture := ⟨" TWFu\n", 0, 90⟩
    let t := (run [.picture (.ok p) 80] { id := "a", delay := 0 }).1
    p.decode = .ok [77, 97, 110] ∧ t.revealed = true ∧ t.hint = some [77, 97, 110] ∧
      pictures t.messages = [.image hintText "data:image/png;base64,TWFu"] ∧
      ∀ s : Session, (apply (.picture (.ok ⟨"TWF=", 0, 60⟩) 0) s).1.loaded = s.loaded := by
  intro p t
  obtain ⟨carries, _, refuses, runs⟩ := picture_unchanged
  have decoded : p.decode = .ok [77, 97, 110] := by
    rw [carries, Picture.carries_iff]
    decide
  have text : Text.trim p.text = "TWFu" := by decide
  have revealed : t.revealed = true := by decide +kernel
  obtain ⟨hint, shown⟩ := (runs "a" 0 [.picture (.ok p) 80]).1 [] p 80 [] _ rfl rfl rfl decoded
  rw [if_pos revealed] at hint shown
  rw [text] at shown
  have spare : ∀ bytes, ¬ Picture.Carries ⟨"TWF=", 0, 60⟩ bytes := by
    intro bytes carried
    have read := (carries _ bytes).mpr carried
    have : Picture.decode ⟨"TWF=", 0, 60⟩ = .error (.malformed (.picture (.lastSymbol 70 2))) := by
      decide
    cases this.symm.trans read
  obtain ⟨_, _, kept⟩ := refuses ⟨"TWF=", 0, 60⟩ spare
  exact ⟨decoded, revealed, hint, shown, kept 0⟩

end Session

end GuessClient
