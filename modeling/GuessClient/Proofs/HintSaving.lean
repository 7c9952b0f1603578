import GuessClient.Proofs.HintPicture
import GuessClient.Proofs.Screen

/-!
Saving the hint. Whatever a session is called, its picture goes into one file in the directory of
the hints, and the file holds the bytes that the server has sent for this session. Nothing in the
application changes by that but its notice.
-/

namespace GuessClient

def Environment.parts (path : String) : List (List Char) :=
  (path.toList.splitOn '/').filter (· ≠ [])

theorem parts_cut (before after : List Char) :
    ((before ++ '/' :: after).splitOn '/').filter (· ≠ []) =
      (before.splitOn '/').filter (· ≠ []) ++ (after.splitOn '/').filter (· ≠ []) := by
  have cut : (before ++ '/' :: after).splitOn '/' = before.splitOn '/' ++ after.splitOn '/' :=
    List.splitOnP_append_cons before after rfl
  rw [cut, List.filter_append]

theorem parts_single {name : String} (named : name ≠ "") (plain : '/' ∉ name.toList) :
    Environment.parts name = [name.toList] := by
  have unlike : ∀ c ∈ name.toList, (c == '/') = false := by
    rintro c there
    rw [beq_eq_false_iff_ne]
    rintro rfl
    exact plain there
  have filled : name.toList ≠ [] := by simpa using named
  rw [Environment.parts, List.splitOn, List.splitOnP_eq_singleton unlike]
  simp [filled]

theorem parts_join {name : String} (named : name ≠ "") (plain : '/' ∉ name.toList) (path : String) :
    Environment.parts (Environment.join path name) =
      Environment.parts path ++ [name.toList] := by
  rw [← parts_single named plain]
  unfold Environment.join
  split
  · rename_i given
    rcases Bool.or_eq_true_iff.mp given with empty | closed
    · obtain rfl : path = "" := by simpa using empty
      rw [String.empty_append]
      rfl
    · obtain ⟨rest, there⟩ : ∃ rest, path.toList = rest ++ ['/'] := by
        rw [Environment.endsWithSlash, decide_eq_true_eq] at closed
        exact List.getLast?_eq_some_iff.mp closed
      have dropped := parts_cut rest []
      rw [Environment.parts, Environment.parts, String.toList_append, there, dropped,
        List.append_assoc, List.singleton_append, parts_cut]
      simp [Environment.parts]
  · rw [Environment.parts, String.toList_append, String.toList_append, List.append_assoc]
    exact parts_cut _ _

def Plain (c : Char) : Prop :=
  ('A' ≤ c ∧ c ≤ 'Z') ∨ ('a' ≤ c ∧ c ≤ 'z') ∨ ('0' ≤ c ∧ c ≤ '9') ∨ c = '-' ∨ c = '_'

instance (c : Char) : Decidable (Plain c) := inferInstanceAs (Decidable (_ ∨ _))

/-- What the file for a session is called before the dot: all plain characters of its name in their
order, or a fixed word if there are none. -/
def Stem (session : String) (stem : List Char) : Prop :=
  stem ≠ [] ∧ stem = session.toList.filter (Plain ·) ∨
    (∀ c ∈ session.toList, ¬ Plain c) ∧ stem = "hint".toList

theorem isNameChar_eq (c : Char) : isNameChar c = decide (Plain c) := by
  have letter : c.isAlphanum =
      (decide ('A' ≤ c ∧ c ≤ 'Z') || (decide ('a' ≤ c) && decide (c ≤ 'z')) ||
        (decide ('0' ≤ c) && decide (c ≤ '9'))) := rfl
  rw [Bool.eq_iff_iff, decide_eq_true_eq, isNameChar, letter]
  simp [Plain, or_assoc]

theorem hintName_stem (session : String) :
    ∃ stem, Stem session stem ∧ hintName session = String.ofList stem ++ ".png" := by
  have kept : session.toList.filter isNameChar = session.toList.filter (Plain ·) :=
    congrArg (session.toList.filter ·) (funext isNameChar_eq)
  simp only [hintName, kept]
  cases plain : session.toList.filter (Plain ·) with
  | nil =>
    refine ⟨"hint".toList, .inr ⟨?_, rfl⟩, rfl⟩
    simpa [List.filter_eq_nil_iff] using plain
  | cons c rest => exact ⟨c :: rest, .inl ⟨nofun, plain.symm⟩, rfl⟩

theorem stem_plain {session : String} {stem : List Char} (named : Stem session stem) :
    stem ≠ [] ∧ ∀ c ∈ stem, Plain c := by
  rcases named with ⟨some, rfl⟩ | ⟨_, rfl⟩
  · exact ⟨some, fun c there => by simpa using (List.mem_filter.mp there).2⟩
  · exact ⟨by decide, by simp [Plain]⟩

theorem stem_parts {session : String} {stem : List Char} (named : Stem session stem)
    (path : String) :
    Environment.parts (Environment.join path (String.ofList stem ++ ".png")) =
      Environment.parts path ++ [stem ++ ".png".toList] := by
  have name : (String.ofList stem ++ ".png").toList = stem ++ ".png".toList := by simp
  have plain : '/' ∉ stem ++ ".png".toList := by
    rw [List.mem_append, not_or]
    refine ⟨fun there => ?_, by decide⟩
    exact absurd ((stem_plain named).2 '/' there) (by decide)
  rw [← name] at plain ⊢
  refine parts_join ?_ plain path
  rw [ne_eq, ← String.toList_inj, name]
  simp

theorem Session.loaded_picture {s t : Session} {operation : Operation} {effects : List Effect}
    (course : Course s operation t effects) {l m : Loaded} (before : s.loaded = some m)
    (after : t.loaded = some l) : l.picture = m.picture := by
  have loaded := (course_reveals course).loaded
  rw [after, before] at loaded
  cases reviews : s.reviewed? operation with
  | none =>
    rw [reviews, Option.none_or] at loaded
    rw [Option.some.inj loaded]
  | some l' =>
    rw [reviews, Option.some_or] at loaded
    rw [Option.some.inj loaded, reviewed_picture reviews before]

namespace App

theorem perform_snoc (settings : Settings) (before : List Operation) (operation : Operation)
    (a : App) :
    (perform settings (before ++ [operation]) a).1 =
      (operation.step settings (perform settings before a).1).1 := by
  induction before generalizing a with
  | nil => rfl
  | cons first rest ih => exact ih (first.step settings a).1

theorem start_session {a : App} {t : Session} (shown : (startGame a).1.session = some t) :
    a.session = some t := by
  by_cases home : a.screen = .home
  · simp only [startGame, home, ↓reduceIte, requestStart] at shown
    split at shown <;> exact shown
  · simp [startGame, home, requestStart, navigate, Transition.andThen_apply] at shown

inductive Leaves (settings : Settings) (a : App) : Operation → Session → Prop where
  | new (around : Surroundings) (event : Event) (id : String) :
      Leaves settings a (.handle around event) { id, delay := settings.leaveDelay, begun := true }
  | kept {s : Session} (operation : Operation) (there : a.session = some s) :
      Leaves settings a operation s
  | acted {s : Session} {around : Surroundings} {event : Event} {o : Session.Operation}
      (there : a.session = some s) (sound : s.status.Sound)
      (causes : Causes around.now s.id event o) :
      Leaves settings a (.handle around event) (Session.apply o s).1

theorem passage_leaves {settings : Settings} {around : Surroundings} {event : Event} {a : App}
    {stage next : Stage} (there : a.At stage) (sound : stage.Sound) {calls : List Call}
    {ways : List Route} (passage : Passage settings around.now event stage next calls ways)
    {t : Session} (playing : next = .playing t) : Leaves settings a (.handle around event) t := by
  cases passage with
  | stay =>
    subst playing
    exact .kept _ there.session?
  | confirmed id =>
    cases playing
    exact .new around _ id
  | played s causes =>
    cases playing
    exact .acted there.session? sound causes
  | arrive route => cases route <;> cases playing
  | _ => cases playing

theorem step_leaves {a : App} (orderly : a.Orderly) {settings : Settings} {operation : Operation}
    {t : Session} (shown : (operation.step settings a).1.session = some t) :
    Leaves settings a operation t := by
  cases operation with
  | handle around event =>
    obtain ⟨⟨stage, there, sound⟩, _⟩ := orderly
    have leads : Leads settings around.now event stage (handle around settings event a) :=
      handle_leads there sound event
    obtain ⟨next, there', passage⟩ := leads
    exact passage_leaves there sound passage (there'.stage_eq shown)
  | navigate route => cases route <;> cases shown
  | startGame => exact .kept _ (start_session shown)
  | setScrollLimit limit => exact .kept _ shown

theorem empty_orderly : ({} : App).Orderly :=
  ⟨⟨.home false, ⟨rfl, rfl, rfl, rfl, rfl, rfl⟩, trivial⟩, fun _ => ⟨rfl, rfl, rfl⟩⟩

theorem perform_illustrated (settings : Settings) (operations : List Operation) {s : Session}
    (shown : (perform settings operations {}).1.session = some s) : Session.Illustrated s := by
  induction operations using List.reverseRecOn generalizing s with
  | nil => cases shown
  | append_singleton before operation ih =>
    rw [perform_snoc] at shown
    cases step_leaves (perform_orderly settings before empty_orderly) shown with
    | new => exact ⟨nofun, rfl⟩
    | kept _ there => exact ih there
    | acted there sound =>
      exact Session.illustrated_step (ih there)
        (Session.course_reveals (Session.apply_course sound _))

/-- The session on screen after some operations has taken this picture from the reply of a server,
and has been on screen from then on. -/
def Accepted (settings : Settings) (operations : List Operation) (s : Session) (p : Picture) :
    Prop :=
  ∃ before around after u,
    operations = before ++ .handle around (.reply (.picture s.id (.ok p))) :: after ∧
      (perform settings before {}).1.session = some u ∧ u.id = s.id ∧ u.loaded = none ∧
      u.ended = false ∧ ∀ between, between <+: after →
        (perform settings (before ++ .handle around (.reply (.picture s.id (.ok p))) :: between)
          {}).1.session.isSome = true

theorem accepted_snoc {settings : Settings} {operations : List Operation} {s t : Session}
    {p : Picture} (accepted : Accepted settings operations s p) (same : t.id = s.id)
    {operation : Operation}
    (shown : (perform settings (operations ++ [operation]) {}).1.session = some t) :
    Accepted settings (operations ++ [operation]) t p := by
  obtain ⟨before, around, after, u, rfl, there, own, unloaded, live, stays⟩ := accepted
  have own' : u.id = t.id := own.trans same.symm
  refine ⟨before, around, after ++ [operation], u, ?_, there, own', unloaded, live, ?_⟩
  · rw [same, List.append_assoc, List.cons_append]
  · intro between early
    rw [same]
    rcases List.prefix_concat_iff.mp early with rfl | early
    · rw [List.append_assoc, List.cons_append] at shown
      rw [shown]
      rfl
    · exact stays between early

theorem perform_accepted (settings : Settings) (operations : List Operation) {s : Session}
    (shown : (perform settings operations {}).1.session = some s) {l : Loaded}
    (loaded : s.loaded = some l) :
    ∃ p, Accepted settings operations s p ∧ p.decode = .ok l.picture := by
  induction operations using List.reverseRecOn generalizing s l with
  | nil => cases shown
  | append_singleton before operation ih =>
    have last := shown
    rw [perform_snoc] at last
    cases step_leaves (perform_orderly settings before empty_orderly) last with
    | new => cases loaded
    | kept _ there =>
      obtain ⟨p, accepted, decoded⟩ := ih there loaded
      exact ⟨p, accepted_snoc accepted rfl shown, decoded⟩
    | @acted u around event o there sound causes =>
      have same : (Session.apply o u).1.id = u.id := Session.apply_id sound o
      have course := Session.apply_course sound o
      -- either the picture was there before and has stayed, or this operation has brought it
      cases already : u.loaded with
      | some m =>
        obtain ⟨p, accepted, decoded⟩ := ih there already
        refine ⟨p, accepted_snoc accepted same shown, ?_⟩
        rw [decoded, Session.loaded_picture course already loaded]
      | none =>
        rcases Session.course_loads already course with
          still | ⟨outcome, now, window, picture, rfl, live, opened, taken⟩
        · cases still.symm.trans loaded
        · cases causes
          obtain ⟨p, rfl, rfl, decoded⟩ := Session.takes_decoded ⟨already, live, opened⟩
          obtain rfl := Option.some.inj (taken.symm.trans loaded)
          refine ⟨p, ⟨before, around, [], u, by rw [same], there, same.symm, already, live, ?_⟩,
            decoded⟩
          intro between early
          rw [List.prefix_nil.mp early, same, shown]
          rfl

theorem save_hidden {a : App} {s : Session} (session : a.session = some s) (hidden : s.hint = none)
    (around : Surroundings) (settings : Settings) :
    saveHint around settings a = ({ a with notice := some noHintText }, []) := by
  simp only [saveHint, session, hidden]

theorem save_revealed {a : App} {s : Session} (session : a.session = some s) {picture : List UInt8}
    (hint : s.hint = some picture) {settings : Settings} (quiet : settings.openHints = false)
    (around : Surroundings) :
    let path := Environment.join settings.hintDirectory (hintName s.id)
    saveHint around settings a =
      if around.blocked = true ∨ longestName < (hintName s.id).length then
        ({ a with notice := some hintFailedText }, [])
      else ({ a with notice := some ("Hint saved to " ++ path) }, [.write path picture]) := by
  intro path
  simp only [saveHint, session, hint, hintFile?, Bool.or_eq_true, decide_eq_true_eq]
  by_cases fails : around.blocked = true ∨ longestName < (hintName s.id).length
  · simp only [fails, ↓reduceIte]
  · simp only [fails, quiet, ↓reduceIte]
    rfl

theorem hint_saved_safely (settings : Settings) (quiet : settings.openHints = false)
    (operations : List Operation) (s : Session)
    (shown : (perform settings operations {}).1.session = some s) (around : Surroundings) :
    let a := (perform settings operations {}).1
    let r := handle around settings (.key ⟨.char 'o', true⟩) a
    r.1 = { a with notice := r.1.notice } ∧
      (s.revealed = false → r.2 = [] ∧ r.1.notice = some noHintText) ∧
      (s.revealed = true → ∃ p bytes stem,
        Accepted settings operations s p ∧ p.decode = .ok bytes ∧
          Stem s.id stem ∧ stem ≠ [] ∧ (∀ c ∈ stem, Plain c) ∧
          let path := Environment.join settings.hintDirectory (String.ofList stem ++ ".png")
          Environment.parts path =
            Environment.parts settings.hintDirectory ++ [stem ++ ".png".toList] ∧
          if around.blocked = true ∨ longestName < stem.length + 4 then
            r.2 = [] ∧ r.1.notice = some hintFailedText
          else r.2 = [.write path bytes] ∧ r.1.notice = some ("Hint saved to " ++ path)) := by
  intro a r
  have session : a.session = some s := shown
  have screen : a.screen = .session := by
    obtain ⟨⟨stage, there, _⟩, _⟩ := perform_orderly settings operations empty_orderly
    obtain rfl := there.stage_eq shown
    exact there.1
  have saves : r = saveHint around settings a := by
    simp [r, handle, onKey, isQuitKey, screen, onSessionKey, session]
  rw [saves]
  cases revealed : s.revealed with
  | false =>
    rw [save_hidden session (by simp [Session.hint, revealed])]
    exact ⟨rfl, fun _ => ⟨rfl, rfl⟩, fun known => absurd known Bool.false_ne_true⟩
  | true =>
    have known := (perform_illustrated settings operations shown).known revealed
    obtain ⟨l, loaded⟩ := Option.isSome_iff_exists.mp known
    obtain ⟨p, accepted, decoded⟩ := perform_accepted settings operations shown loaded
    obtain ⟨stem, named, name⟩ := hintName_stem s.id
    have length : (hintName s.id).length = stem.length + 4 := by
      rw [name, String.length_append, String.length_ofList]
      rfl
    have hint : s.hint = some l.picture := by simp [Session.hint, revealed, loaded]
    rw [save_revealed session hint quiet, length, name]
    refine ⟨?_, fun hidden => ?_, fun _ => ⟨p, l.picture, stem, accepted, decoded, named,
      (stem_plain named).1, (stem_plain named).2, stem_parts named _, ?_⟩⟩
    · split <;> rfl
    · cases hidden
    · split <;> exact ⟨rfl, rfl⟩

/-- The hint of a session that is called like a file outside of the directory, saved with room for the
file and without. -/
theorem hint_saved_safely_outside :
    let settings : Settings := { hintDirectory := "hints", openHints := false }
    let operations : List Operation :=
      [.navigate (.session "../a"), .handle { now := 0 } (.reply (.alive "../a" (.ok ()))),
        .handle { now := 80 } (.reply (.picture "../a" (.ok ⟨"TWFu", 0, 90⟩)))]
    let a := (perform settings operations {}).1
    let saved (blocked : Bool) := handle { now := 80, blocked } settings (.key ⟨.char 'o', true⟩) a
    settings.openHints = false ∧
      (∃ s, a.session = some s ∧ s.id = "../a" ∧ s.revealed = true) ∧
      saved false = ({ a with notice := some "Hint saved to hints/a.png" },
        [.write "hints/a.png" [77, 97, 110]]) ∧
      saved true = ({ a with notice := some hintFailedText }, []) := by
  intro settings operations a saved
  have known : a.session.map (fun s => (s.id, s.revealed)) = some ("../a", true) := by
    decide +kernel
  obtain ⟨s, shown, both⟩ := Option.map_eq_some_iff.mp known
  obtain ⟨named, revealed⟩ := Prod.mk.inj both
  -- the name of the file and its bytes are those of the theorem, and there is only one of each
  have safe (blocked : Bool) := hint_saved_safely settings rfl operations s shown ⟨80, blocked⟩
  have only {stem : List Char} (stems : Stem s.id stem) : stem = ['a'] := by
    rcases stems with ⟨-, same⟩ | ⟨empty, -⟩
    · rw [same, named]
      decide
    · exact absurd (by decide) (empty 'a' (by rw [named]; decide))
  have sent {p : Picture} {bytes : List UInt8} (accepted : Accepted settings operations s p)
      (decoded : p.decode = .ok bytes) : bytes = [77, 97, 110] := by
    obtain ⟨before, around, after, _, split, _⟩ := accepted
    have there : .handle around (.reply (.picture s.id (.ok p))) ∈ operations := by simp [split]
    have same : p = ⟨"TWFu", 0, 90⟩ := by
      simp only [operations, List.mem_cons, List.not_mem_nil, or_false] at there
      have both : around = ⟨80, false⟩ ∧ p = ⟨"TWFu", 0, 90⟩ := by simpa [named] using there
      exact both.2
    have read : Picture.decode ⟨"TWFu", 0, 90⟩ = .ok [77, 97, 110] := by decide
    exact (Except.ok.inj (read.symm.trans (same ▸ decoded))).symm
  refine ⟨rfl, ⟨s, shown, named, revealed⟩, ?_, ?_⟩
  · obtain ⟨kept, -, saves⟩ := safe false
    obtain ⟨p, bytes, stem, accepted, decoded, stems, -, -, -, result⟩ := saves revealed
    obtain rfl := only stems
    obtain rfl := sent accepted decoded
    have room : ¬ (false = true ∨ longestName < ['a'].length + 4) := by decide
    have path : Environment.join settings.hintDirectory (String.ofList ['a'] ++ ".png") =
        "hints/a.png" := by decide
    rw [if_neg room, path] at result
    exact Prod.ext (kept.trans (by rw [result.2]; rfl)) result.1
  · obtain ⟨kept, -, saves⟩ := safe true
    obtain ⟨p, bytes, stem, -, -, -, -, -, -, result⟩ := saves revealed
    rw [if_pos (.inl rfl)] at result
    exact Prod.ext (kept.trans (by rw [result.2])) result.1

end App

end GuessClient
