import GuessClient.App
import GuessClient.Terminal.Paragraph

/-!
The home screen.
-/

namespace GuessClient.Panel

open GuessClient.Terminal

def sideMargin : Nat := 2

def helpStyle : Style := { foreground := some .gray, italic := true }

def centered (text : String) (style : Style) : Paragraph :=
  { lines := [[span text style]], alignment := .center }

def helpLine (text : String) : Paragraph :=
  { lines := [flatLine text], style := helpStyle, alignment := .center }

/-- The rows above the title: thirty-five of a hundred, as far as the other parts leave them. -/
def rowsAboveTitle (height : Nat) : Nat := min ((35 * height + 50) / 100) (height - 9)

def button (starting : Bool) : Paragraph :=
  if starting then centered "Preparing..." { foreground := some .gray }
  else centered "[ Start game ]" { foreground := some .blue, bold := true }

def home (h : GuessClient.Home) (screen : Area) (c : Canvas) : Canvas :=
  let area := screen.within sideMargin 0
  let top := rowsAboveTitle area.height
  -- The help gets its row after these four have two each.
  let edge := fun k => top + sharedEdge 4 (min 8 area.height) k
  let part := fun k => area.rows (edge k) (edge (k + 1) - edge k)
  let c := (centered "FunGuessr" { foreground := some .cyan, bold := true }).draw (part 0) c
  let c := (centered "Guess the hidden function before time runs out." { italic := true }).draw
    (part 1) c
  let c := (button h.starting).draw (part 2) c
  let c := match h.notice with
    | some notice =>
      { centered notice { foreground := some .red } with flow := .wrap true }.draw (part 3) c
    | none => c
  (helpLine "(enter) start   (esc) quit").draw (area.rows (max 8 (area.height - 1)) 1) c

end GuessClient.Panel
