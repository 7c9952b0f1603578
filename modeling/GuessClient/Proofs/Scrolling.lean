import GuessClient.Panel.Draw
import GuessClient.Proofs.LogBox

/-!
Scrolling the log. The application counts the rows that the log is scrolled up, the screen passes over
rows at the top, and both keep to the limit that the last drawing has told. The limit may have become
smaller since a key was pressed; a number beyond it stands for the limit.
-/

namespace GuessClient

def KeyCode.scrolled? (limit offset : Nat) : KeyCode → Option Nat
  | .up => some (offset - 1)
  | .down => some (min limit (offset + 1))
  | .pageUp => some (offset - 10)
  | .pageDown => some (min limit (offset + 10))
  | _ => none

theorem scrolled_moves {code : KeyCode} {limit offset moved : Nat} (bounded : offset ≤ limit)
    (scrolls : code.scrolled? limit offset = some moved) (same : moved = offset) :
    (code = .up ∨ code = .pageUp) ∧ offset = 0 ∨
      (code = .down ∨ code = .pageDown) ∧ offset = limit := by
  cases code with
  | up | pageUp =>
    have := Option.some.inj scrolls
    exact .inl ⟨by simp, by omega⟩
  | down | pageDown =>
    have := Option.some.inj scrolls
    exact .inr ⟨by simp, by omega⟩
  | _ => cases scrolls

/-- The rows that are passed over at the top of the log. -/
def App.offset (a : App) : Nat := a.scrollLimit - min a.scroll a.scrollLimit

namespace App

variable {a : App}

theorem offset_scrollUp (bounded : a.scrollLimit ≤ Terminal.largest) (rows : Nat) :
    (a.scrollUp rows).offset = a.offset - rows ∧ (a.scrollUp rows).scroll ≤ a.scrollLimit := by
  simp only [scrollUp, offset, Terminal.saturate]
  omega

theorem offset_scrollDown (rows : Nat) :
    (a.scrollDown rows).offset = min a.scrollLimit (a.offset + rows) ∧
      (a.scrollDown rows).scroll ≤ a.scrollLimit := by
  simp only [scrollDown, offset]
  omega

theorem handle_scrolling (screen : a.screen = .session) (shown : a.session.isSome = true) {k : Key}
    {offset : Nat} (scrolls : k.code.scrolled? a.scrollLimit a.offset = some offset)
    (around : Surroundings) (settings : Settings) :
    ∃ rows,
      handle around settings (.key k) a = (a.scrollUp rows, []) ∧ offset = a.offset - rows ∨
        handle around settings (.key k) a = (a.scrollDown rows, []) ∧
          offset = min a.scrollLimit (a.offset + rows) := by
  obtain ⟨code, control⟩ := k
  have there : a.session.isNone = false := by simpa using shown
  have pressed {b : App} (quits : isQuitKey ⟨code, control⟩ = false)
      (does : onSessionKey around settings ⟨code, control⟩ a = (b, [])) :
      handle around settings (.key ⟨code, control⟩) a = (b, []) := by
    simp [handle, onKey, quits, screen, does]
  cases code with
  | up => exact ⟨1, .inl ⟨pressed (by simp [isQuitKey]) (by simp [onSessionKey, there]),
      (Option.some.inj scrolls).symm⟩⟩
  | down => exact ⟨1, .inr ⟨pressed (by simp [isQuitKey]) (by simp [onSessionKey, there]),
      (Option.some.inj scrolls).symm⟩⟩
  | pageUp => exact ⟨10, .inl ⟨pressed (by simp [isQuitKey]) (by simp [onSessionKey, there]),
      (Option.some.inj scrolls).symm⟩⟩
  | pageDown => exact ⟨10, .inr ⟨pressed (by simp [isQuitKey]) (by simp [onSessionKey, there]),
      (Option.some.inj scrolls).symm⟩⟩
  | _ => cases scrolls

end App

namespace Panel

open GuessClient.Terminal

theorem logOffset_clamped (s : Session) (screen : Area) (scroll : Nat) :
    logOffset (messageLines s.messages) (logBox screen) scroll =
      scrollLimit (some s) screen - min scroll (scrollLimit (some s) screen) := by
  change scrollLimit (some s) screen - scroll = _
  omega

/-- The log is drawn from as many rows on as the application has it. A key that scrolls moves that by
its own number of rows, as far as there are any, and does nothing else. -/
theorem scroll_keys (s : Session) (screen : Area) :
    scrollLimit (some s) screen ≤ largest ∧
    (∀ p c, p.session = some s →
      let offset := scrollLimit (some s) screen - min p.scroll (scrollLimit (some s) screen)
      drawLog p (SessionLayout.ofScreen screen).log c =
        ({ lines := messageLines s.messages, flow := .wrap false, scroll := offset } : Paragraph).draw
          (logBox screen) (c.frame (SessionLayout.ofScreen screen).log [span "Log"])) ∧
    ∀ around settings k a offset, a.screen = .session → a.session = some s →
      a.scrollLimit = scrollLimit (some s) screen →
      k.code.scrolled? a.scrollLimit a.offset = some offset →
      (∃ scroll ≤ a.scrollLimit,
        App.handle around settings (.key k) a = ({ a with scroll }, []) ∧
          ({ a with scroll }).offset = offset) ∧
      offset ≤ a.scrollLimit ∧
      (offset = a.offset →
        (k.code = .up ∨ k.code = .pageUp) ∧ a.offset = 0 ∨
          (k.code = .down ∨ k.code = .pageDown) ∧ a.offset = a.scrollLimit) := by
  refine ⟨scrollLimit_le s screen, ?_, ?_⟩
  · intro p c session
    rw [drawLog, session]
    simp only [logLines]
    rw [← logBox, logOffset_clamped]
  · intro around settings k a offset onScreen session limit scrolls
    have bounded : a.scrollLimit ≤ largest := limit ▸ scrollLimit_le s screen
    have within : a.offset ≤ a.scrollLimit := Nat.sub_le _ _
    have shown : a.session.isSome = true := by rw [session]; rfl
    obtain ⟨scroll, below, handled, moved⟩ : ∃ scroll ≤ a.scrollLimit,
        App.handle around settings (.key k) a = ({ a with scroll }, []) ∧
          ({ a with scroll }).offset = offset := by
      obtain ⟨rows, ⟨handled, moved⟩ | ⟨handled, moved⟩⟩ :=
        App.handle_scrolling onScreen shown scrolls around settings
      · obtain ⟨offset', scroll⟩ := App.offset_scrollUp bounded rows
        exact ⟨_, scroll, handled, offset'.trans moved.symm⟩
      · obtain ⟨offset', scroll⟩ := App.offset_scrollDown rows
        exact ⟨_, scroll, handled, offset'.trans moved.symm⟩
    exact ⟨⟨scroll, below, handled, moved⟩, moved ▸ Nat.sub_le _ _, scrolled_moves within scrolls⟩

/-- A number that is left from a larger limit is passed over at the first key. -/
example (around : Surroundings) (settings : Settings) (s : Session) :
    let a : App := { screen := .session, session := some s, scroll := 50, scrollLimit := 3 }
    (App.handle around settings (.key ⟨.down, false⟩) a).1.scroll = 2 := rfl

end Panel

end GuessClient
