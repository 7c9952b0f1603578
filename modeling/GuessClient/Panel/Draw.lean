import GuessClient.Panel.Result
import GuessClient.Panel.Session

/-!
The application on the screen of a terminal.
-/

namespace GuessClient.Panel

open GuessClient.Terminal

def sessionPage (a : App) : SessionPage where
  id := a.sessionId.getD ""
  session := a.session
  input := a.input
  scroll := a.scroll
  notice := a.notice

def draw (a : App) (width height : Nat) : Canvas :=
  let area : Area := ⟨0, 0, width, height⟩
  let c := Canvas.blank width height
  match a.screen with
  | .home => home a.home area c
  | .session => session (sessionPage a) area c
  | .result => result a.result area c

def cursor (a : App) (width height : Nat) : Option (Nat × Nat) :=
  match a.screen, a.session with
  | .session, some s =>
    if s.locked then none
    else some (inputCursor (SessionLayout.ofScreen ⟨0, 0, width, height⟩).input a.input)
  | _, _ => none

/-- The application after it was drawn, which tells how far the log can be scrolled. -/
def drawn (a : App) (width height : Nat) : App :=
  match a.screen with
  | .session => a.setScrollLimit (scrollLimit a.session ⟨0, 0, width, height⟩)
  | _ => a

end GuessClient.Panel
